import TreeFetch.FileSystem.Canonical
import TreeFetch.Proofs.FileSystem.Directory

/-!
# Where canonical paths lead

A path that can be made canonical leads where it leads anyway. Conversely, a path that leads to an
entry can be made canonical if none of the names on the way has to be looked up by too long a text.

Results:
1. `retraceAll_eq_ok`: names that are looked up by canonical paths lead where names lead.
2. `canonical?_eq_some` and `locate?_eq_some_iff_leads`: two ways to an entry and what each demands.
3. `Extends.canonical?`: what is canonical stays so in an extension.
4. `canonical?_inShaft`: a name so deep down that it cannot be made canonical.
-/

namespace TreeFetch.FileSystem

open PathText (IsName parts push)

variable {fs before after : FileSystem} {tree : Tree} {limits : Limits} {path : String}
  {links : Nat} {at_ there : Location} {rest way : List String}

/-! ## What is looked up -/

theorem canonicalBytes_le_lookupBytes (at_ : Location) (node : Node) (rest : List String) :
    at_.canonicalBytes ≤ lookupBytes at_ node rest :=
  Nat.le_add_right ..

theorem lookupBytes_le (at_ : Location) (node : Node) (rest : List String) :
    lookupBytes at_ node rest ≤ at_.canonicalBytes + 1 := by
  have one : ∀ slash : Bool, (if slash then 1 else 0) ≤ 1 := by decide
  exact Nat.add_le_add_left (one _) _

/-- The numbers of bytes of the texts by which names are looked up on the way to the first link. -/
def lookupsIn (tree : Tree) : Location → List String → List Nat
  | _, [] => []
  | at_, part :: rest =>
    if PathText.isIdle part then lookupsIn tree at_ rest
    else if PathText.climbs part then lookupsIn tree at_.tail rest
    else
      match tree.node? (.text part :: at_) with
      | none => []
      | some node =>
        lookupBytes (.text part :: at_) node rest ::
          match node with
          | .link _ => []
          | _ => lookupsIn tree (.text part :: at_) rest

theorem lookupsIn_onto {part : String} {node : Node} (moves : ¬PathText.isIdle part = true)
    (falls : ¬PathText.climbs part = true) (found : tree.node? (.text part :: at_) = some node)
    (solid : ∀ target, node ≠ .link target) :
    lookupsIn tree at_ (part :: rest) =
      lookupBytes (.text part :: at_) node rest :: lookupsIn tree (.text part :: at_) rest := by
  rw [lookupsIn, if_neg moves, if_neg falls, found]
  cases node with
  | link target => exact absurd rfl (solid target)
  | file _ _ => rfl
  | folder _ => rfl

theorem lookupsIn_blank (blank : ∀ part ∈ way, part = "") :
    lookupsIn tree at_ way = [] := by
  induction way with
  | nil => rfl
  | cons part way ih =>
    obtain rfl := blank part (List.mem_cons_self ..)
    rw [lookupsIn, if_pos (by decide)]
    exact ih fun part present => blank part (List.mem_cons_of_mem _ present)

/-- The numbers of bytes of the texts by which names are looked up, through at most `links`
links. -/
def lookupsAlong (tree : Tree) (nameBytes : Nat) :
    (links : Nat) → Location → List String → List Nat
  | 0, at_, way => lookupsIn tree at_ way
  | left + 1, at_, way =>
    lookupsIn tree at_ way ++
      match descend tree nameBytes true at_ way with
      | .link folder target rest =>
        lookupsAlong tree nameBytes left (start target folder) (parts target ++ rest)
      | _ => []

/-- The numbers of bytes of the texts by which names are looked up to make a path canonical. -/
def lookups (fs : FileSystem) (path : String) : List Nat :=
  lookupsAlong fs.tree fs.limits.nameBytes fs.limits.links (start path fs.current) (parts path)

/-- No text is longer than a path may be. -/
def Limits.Suit (limits : Limits) (lookups : List Nat) : Prop :=
  ∀ bytes ∈ lookups, bytes ≤ limits.pathBytes

theorem suit_cons {limits : Limits} {bytes : Nat} {more : List Nat} :
    limits.Suit (bytes :: more) ↔ bytes ≤ limits.pathBytes ∧ limits.Suit more :=
  List.forall_mem_cons

theorem suit_append {limits : Limits} {first more : List Nat} :
    limits.Suit (first ++ more) ↔ limits.Suit first ∧ limits.Suit more :=
  List.forall_mem_append

theorem suit_nil (limits : Limits) : limits.Suit [] := List.forall_mem_nil _

/-! ## Along the parts of a path -/

theorem retraceAll_eq :
    retraceAll tree limits links at_ way =
      match retrace tree limits at_ way with
      | .done place => .ok place
      | .refused fault => .error fault
      | .link folder target rest =>
        match links with
        | 0 => .error .tooManyLinks
        | left + 1 => retraceAll tree limits left (start target folder) (parts target ++ rest) :=
  retraceAll.eq_def ..

theorem retrace_eq {d : Descent} (firm : d.Firm) :
    retrace tree limits at_ way = d ↔
      descend tree limits.nameBytes true at_ way = d ∧ limits.Suit (lookupsIn tree at_ way) := by
  fun_induction retrace tree limits at_ way with
  | case1 at_ => exact (and_iff_left (suit_nil limits)).symm
  | case2 at_ part rest shut =>
    rw [descend, if_pos shut]
    exact iff_of_false (by rintro rfl; cases firm) (by rintro ⟨rfl, _⟩; cases firm)
  | case3 at_ part rest open_ idle ih =>
    rw [ih, descend_idle (by simpa using open_) idle, lookupsIn, if_pos idle]
  | case4 at_ part rest open_ moves climbs ih =>
    rw [ih, descend_climb (by simpa using open_) (by simpa using moves) climbs, lookupsIn,
      if_neg moves, if_pos climbs]
  | case5 at_ part rest open_ moves falls long =>
    rw [descend, if_neg open_, if_neg moves, if_neg falls, if_pos long]
    exact iff_of_false (by rintro rfl; cases firm) (by rintro ⟨rfl, _⟩; cases firm)
  | case6 at_ part rest open_ moves falls fits free =>
    rw [descend, if_neg open_, if_neg moves, if_neg falls, if_neg fits, free]
    refine iff_of_false (by rintro rfl; cases firm) ?_
    rintro ⟨rfl, _⟩
    dsimp only at firm
    split at firm <;> cases firm
  | case7 at_ part rest open_ moves falls fits node found long =>
    refine iff_of_false (by rintro rfl; cases firm) ?_
    rintro ⟨-, suit⟩
    rw [lookupsIn, if_neg moves, if_neg falls, found] at suit
    exact absurd (suit_cons.1 suit).1 (Nat.not_le.2 long)
  | case8 at_ part rest open_ moves falls fits target found short =>
    rw [(LooksUp.of_not open_ moves falls fits).descend_link found, if_neg (by simp), lookupsIn,
      if_neg moves, if_neg falls, found]
    exact (and_iff_left (suit_cons.2 ⟨Nat.not_lt.1 short, suit_nil limits⟩)).symm
  | case9 at_ part rest open_ moves falls fits node found short solid ih =>
    rw [ih, (LooksUp.of_not open_ moves falls fits).descend_onto ⟨node, found, solid⟩,
      lookupsIn_onto moves falls found solid, suit_cons, and_iff_right (Nat.not_lt.1 short)]

theorem retrace_firm {place : Place} (h : retrace tree limits at_ way = .done place) :
    ∃ there, place = .entry there := by
  fun_induction retrace tree limits at_ way with
  | case1 at_ => exact ⟨at_, (Descent.done.inj h).symm⟩
  | case3 at_ part rest open_ idle ih => exact ih h
  | case4 at_ part rest open_ moves climbs ih => exact ih h
  | case9 at_ part rest open_ moves falls fits node found short solid ih => exact ih h
  | _ => cases h

theorem firm_of_follow
    (h : follow tree limits.nameBytes true links at_ way = .ok (.entry there)) :
    (descend tree limits.nameBytes true at_ way).Firm := by
  rw [follow_eq] at h
  split at h
  · next place reached =>
    obtain rfl := Except.ok.inj h
    exact reached ▸ .entry
  · cases h
  · next reached => exact reached ▸ .link

theorem suit_lookupsIn {nameBytes : Nat}
    (h : limits.Suit (lookupsAlong tree nameBytes links at_ way)) :
    limits.Suit (lookupsIn tree at_ way) := by
  cases links with
  | zero => exact h
  | succ left => exact (suit_append.1 h).1

theorem follow_link {nameBytes left : Nat} {folder : Location} {target : String}
    (h : descend tree nameBytes true at_ way = .link folder target rest) :
    follow tree nameBytes true (left + 1) at_ way =
      follow tree nameBytes true left (start target folder) (parts target ++ rest) := by
  rw [follow_eq, h]

/-- Names that are looked up by their canonical paths lead where names lead, if all these texts are
short enough. -/
theorem retraceAll_eq_ok :
    retraceAll tree limits links at_ way = .ok (.entry there) ↔
      follow tree limits.nameBytes true links at_ way = .ok (.entry there) ∧
        limits.Suit (lookupsAlong tree limits.nameBytes links at_ way) := by
  fun_induction retraceAll tree limits links at_ way with
  | case1 links at_ way place reached =>
    obtain ⟨end_, rfl⟩ := retrace_firm reached
    obtain ⟨descends, suit⟩ := (retrace_eq .entry).1 reached
    rw [follow_eq, descends]
    refine (and_iff_left ?_).symm
    cases links with
    | zero => exact suit
    | succ left =>
      rw [lookupsAlong, descends, List.append_nil]
      exact suit
  | case2 links at_ way fault refused =>
    refine iff_of_false (by simp) ?_
    rintro ⟨follows, suit⟩
    have reached := (retrace_eq (firm_of_follow follows)).2 ⟨rfl, suit_lookupsIn suit⟩
    have firm := firm_of_follow follows
    rw [← reached, refused] at firm
    cases firm
  | case3 at_ way folder target rest reached =>
    rw [follow_eq, ((retrace_eq .link).1 reached).1]
    simp
  | case4 at_ way folder target rest reached left ih =>
    obtain ⟨descends, suit⟩ := (retrace_eq .link).1 reached
    rw [ih, follow_link descends, lookupsAlong, descends, suit_append, and_iff_right suit]

/-! ## Where a path leads -/

/-- A path leads to an entry, links followed, however long its text is. -/
structure Leads (fs : FileSystem) (path : String) (at_ : Location) : Prop where
  filled : path ≠ ""
  clean : path.contains '\x00' = false
  followed : follow fs.tree fs.limits.nameBytes true fs.limits.links (start path fs.current)
    (parts path) = .ok (.entry at_)

theorem Leads.unique (h : fs.Leads path at_) (h' : fs.Leads path there) : at_ = there := by
  simpa using h.followed.symm.trans h'.followed

theorem Leads.solid (h : fs.Leads path at_) : fs.tree.Solid at_ :=
  follow_solid (PathText.parts_ne_nil path) h.followed

theorem Leads.kept (e : Extends before after) (h : before.Leads path at_) :
    after.Leads path at_ where
  filled := h.filled
  clean := h.clean
  followed := by
    rw [e.current, e.limits]
    exact follow_kept e.kept h.followed

theorem checkText_eq_ok :
    fs.checkText path = .ok () ↔
      path ≠ "" ∧ path.contains '\x00' = false ∧
      path.utf8ByteSize ≤ fs.limits.pathBytes := by
  unfold checkText
  split
  · next nul => simp [nul]
  · next clean =>
    split
    · next empty => simp [empty]
    · next filled =>
      split
      · next long => simp [Nat.not_le.2 long]
      · next short => simp [filled, Nat.not_lt.1 short, clean]

theorem locate?_eq_some_iff_leads :
    fs.locate? path = some at_ ↔
      fs.Leads path at_ ∧ path.utf8ByteSize ≤ fs.limits.pathBytes := by
  rw [locate?_eq_some, resolve_eq_ok, checkText_eq_ok]
  constructor
  · rintro ⟨⟨filled, clean, short⟩, followed⟩
    exact ⟨⟨filled, clean, followed⟩, short⟩
  · rintro ⟨leads, short⟩
    exact ⟨⟨leads.filled, leads.clean, short⟩, leads.followed⟩

theorem canonical?_eq_some_iff_retraceAll :
    fs.canonical? path = some at_ ↔
      path ≠ "" ∧ path.contains '\x00' = false ∧
        retraceAll fs.tree fs.limits fs.limits.links (start path fs.current) (parts path) =
          .ok (.entry at_) := by
  unfold canonical?
  split
  · next unusable =>
    simp only [Bool.or_eq_true, decide_eq_true_eq] at unusable
    rcases unusable with empty | nul
    · simp [empty]
    · simp [nul]
  · next usable =>
    simp only [Bool.or_eq_true, decide_eq_true_eq, not_or, Bool.not_eq_true] at usable
    rw [and_iff_right usable.1, and_iff_right usable.2]
    split
    · next there reached => simp [reached]
    · next other => simpa using other at_

theorem canonical?_eq_some :
    fs.canonical? path = some at_ ↔ fs.Leads path at_ ∧ fs.limits.Suit (fs.lookups path) := by
  rw [canonical?_eq_some_iff_retraceAll, retraceAll_eq_ok]
  constructor
  · rintro ⟨filled, clean, followed, suit⟩
    exact ⟨⟨filled, clean, followed⟩, suit⟩
  · rintro ⟨leads, suit⟩
    exact ⟨leads.filled, leads.clean, leads.followed, suit⟩

theorem canonical?_eq_locate? (h : fs.canonical? path = some at_)
    (h' : fs.locate? path = some there) : at_ = there :=
  (canonical?_eq_some.1 h).1.unique (locate?_eq_some_iff_leads.1 h').1

theorem solid_of_canonical? (h : fs.canonical? path = some at_) : fs.tree.Solid at_ :=
  (canonical?_eq_some.1 h).1.solid

/-! ## Extensions -/

theorem lookupBytes_congr {node node' : Node} (same : node'.shape = node.shape) :
    lookupBytes at_ node' rest = lookupBytes at_ node rest := by
  cases node <;> cases node' <;> simp_all [Node.shape, lookupBytes]

section

variable {before after : Tree} {nameBytes : Nat}
  (kept : ∀ place s, before.shape? place = some s → after.shape? place = some s)

include kept

theorem lookupsIn_kept (firm : (descend before nameBytes true at_ way).Firm) :
    lookupsIn after at_ way = lookupsIn before at_ way := by
  fun_induction descend before nameBytes true at_ way with
  | case1 at_ => rfl
  | case3 at_ part rest open_ idle ih =>
    rw [lookupsIn, lookupsIn, if_pos idle, if_pos idle]
    exact ih firm
  | case4 at_ part rest open_ moves climbs ih =>
    rw [lookupsIn, lookupsIn, if_neg moves, if_neg moves, if_pos climbs, if_pos climbs]
    exact ih firm
  | case9 at_ part rest open_ moves falls fits target found on_ =>
    have found' := Tree.shape?_eq_link.1 (kept _ _ (Tree.shape?_eq_link.2 found))
    rw [lookupsIn, lookupsIn, if_neg moves, if_neg moves, if_neg falls, if_neg falls, found, found']
  | case10 at_ part rest open_ moves falls fits node solid found ih =>
    obtain ⟨node', found', same⟩ :=
      Option.map_eq_some_iff.1 (kept _ _ (Tree.shape?_of_node? found))
    have solid' : ∀ target, node' ≠ .link target := by
      rintro target rfl
      exact solid target (Node.shape_eq_link.1 same.symm)
    rw [lookupsIn_onto moves falls found' solid', lookupsIn_onto moves falls found solid,
      lookupBytes_congr same, ih firm]
  | case8 at_ part rest open_ moves falls fits target found ends => simp at ends
  | _ => cases firm

theorem lookupsAlong_kept
    (h : follow before nameBytes true links at_ way = .ok (.entry there)) :
    lookupsAlong after nameBytes links at_ way = lookupsAlong before nameBytes links at_ way := by
  fun_induction follow before nameBytes true links at_ way with
  | case1 links at_ way place reached =>
    obtain rfl := Except.ok.inj h
    have firm : (descend before nameBytes true at_ way).Firm := reached ▸ .entry
    have same := lookupsIn_kept kept firm
    cases links with
    | zero => exact same
    | succ left =>
      rw [lookupsAlong, lookupsAlong, same, reached, descend_kept kept reached .entry]
  | case4 at_ way folder target rest reached left ih =>
    have firm : (descend before nameBytes true at_ way).Firm := reached ▸ .link
    rw [lookupsAlong, lookupsAlong, lookupsIn_kept kept firm, reached,
      descend_kept kept reached .link]
    simp only [ih h]
  | _ => cases h

end

/-- In an extension the same names are looked up by the same texts. -/
theorem Extends.lookups (e : Extends before after) (leads : before.Leads path at_) :
    after.lookups path = before.lookups path := by
  rw [FileSystem.lookups, FileSystem.lookups, e.current, e.limits]
  exact lookupsAlong_kept e.kept leads.followed

theorem Extends.canonical?_iff (e : Extends before after) (leads : before.Leads path at_) :
    after.canonical? path = some there ↔ before.canonical? path = some there := by
  rw [canonical?_eq_some, canonical?_eq_some, e.lookups leads, e.limits]
  refine and_congr_left fun _ => ⟨fun later => ?_, Leads.kept e⟩
  rwa [later.unique (leads.kept e)]

theorem Extends.canonical? (e : Extends before after) (h : before.canonical? path = some at_) :
    after.canonical? path = some at_ :=
  (e.canonical?_iff (canonical?_eq_some.1 h).1).2 h

/-! ## Paths that cannot be made canonical -/

def shaft (name : Name) : Nat → Tree
  | 0 => .empty
  | depth + 1 => (shaft name depth).add (List.replicate (depth + 1) name) (.folder 0)

theorem node?_shaft {name : Name} (valid : name.isValid = true) (depth : Nat) (place : Location) :
    (shaft name depth).node? place =
      if ∃ n ≤ depth, place = List.replicate n name then some (.folder 0) else none := by
  induction depth generalizing place with
  | zero => cases place <;> simp [shaft, Tree.empty, Tree.node?]
  | succ depth ih =>
    have vacant : (shaft name depth).Vacant (List.replicate depth name) name := by
      refine ⟨?_, ?_, valid⟩
      · rw [Tree.isFolder, ih, if_pos ⟨depth, Nat.le_refl _, rfl⟩]
        rfl
      · rw [ih, if_neg]
        rintro ⟨n, short, same⟩
        have length := congrArg List.length same
        simp only [List.length_cons, List.length_replicate] at length
        omega
    rw [shaft, List.replicate_succ, Tree.node?_add vacant, ih]
    by_cases new : place = name :: List.replicate depth name
    · rw [if_pos new, if_pos ⟨depth + 1, Nat.le_refl _, new⟩]
    · rw [if_neg new]
      refine if_congr ⟨?_, ?_⟩ rfl rfl
      · rintro ⟨n, short, rfl⟩
        exact ⟨n, by omega, rfl⟩
      · rintro ⟨n, short, rfl⟩
        rcases Nat.lt_or_eq_of_le short with less | rfl
        · exact ⟨n, by omega, rfl⟩
        · exact absurd rfl new

theorem canonicalBytes_replicate (name : Name) (n : Nat) :
    Location.canonicalBytes (List.replicate n name) = n * (name.toBytes.length + 1) := by
  induction n with
  | zero => simp [Location.canonicalBytes]
  | succ n ih =>
    rw [List.replicate_succ, Location.canonicalBytes, ih, Nat.succ_mul]
    omega

/-- A program in the last but one folder of a shaft. -/
def inShaft (name : String) (depth : Nat) : FileSystem where
  tree := shaft (.text name) (depth + 1)
  current := List.replicate depth (.text name)

theorem node?_inShaft {name : String} (named : IsName name) {depth n : Nat}
    (short : n ≤ depth + 1) :
    (inShaft name depth).tree.node? (List.replicate n (.text name)) = some (.folder 0) :=
  (node?_shaft (isValid_of_isName named) _ _).trans (if_pos ⟨n, short, rfl⟩)

theorem isFolder_inShaft {name : String} (named : IsName name) (depth : Nat) :
    (inShaft name depth).tree.isFolder (inShaft name depth).current = true :=
  Tree.isFolder_iff_node?.2 ⟨0, node?_inShaft named (Nat.le_succ depth)⟩

theorem canonical?_current {name : String} (named : IsName name) (depth : Nat) :
    (inShaft name depth).canonical? "." = some (inShaft name depth).current := by
  have cut : parts "." = ["."] := by decide
  have begun : start "." (inShaft name depth).current = (inShaft name depth).current :=
    if_neg (by decide)
  refine canonical?_eq_some_iff_retraceAll.2 ⟨by decide, by simp, ?_⟩
  rw [cut, begun, retraceAll_eq, retrace, if_neg (by simp [isFolder_inShaft named]),
    if_pos (by decide)]
  rfl

/-- A name that lies too deep cannot be made canonical, although a short path leads to it. -/
theorem canonical?_inShaft {name : String} (named : IsName name) {depth : Nat}
    (deep : 4095 < (depth + 1) * ((Name.text name).toBytes.length + 1)) :
    (inShaft name depth).canonical? (push "." name) = none := by
  by_contra some_
  obtain ⟨at_, target⟩ := Option.ne_none_iff_exists'.1 some_
  have suit := suit_lookupsIn (canonical?_eq_some.1 target).2
  have begun : start (push "." name) (inShaft name depth).current =
      List.replicate depth (.text name) :=
    (start_pushAll (List.forall_mem_singleton.2 named) (List.cons_ne_nil name []) _).trans
      (if_neg (by decide))
  have stays : lookupsIn (inShaft name depth).tree (List.replicate depth (.text name))
      [".", name] = lookupsIn (inShaft name depth).tree (List.replicate depth (.text name))
      [name] := by rw [lookupsIn, if_pos (by decide)]
  rw [begun, PathText.parts_push "." named, show PathText.stem "." = ["."] by decide,
    List.singleton_append, stays, lookupsIn, if_neg (by simp [named.stays]),
    if_neg (by simp [named.falls]), ← List.replicate_succ,
    node?_inShaft named (Nat.le_refl (depth + 1))] at suit
  have short : lookupBytes (List.replicate (depth + 1) (.text name)) (.folder 0) [] ≤ 4095 :=
    (suit_cons.1 suit).1
  have bytes := Nat.le_trans (canonicalBytes_le_lookupBytes _ _ _) short
  rw [canonicalBytes_replicate] at bytes
  omega

end TreeFetch.FileSystem
