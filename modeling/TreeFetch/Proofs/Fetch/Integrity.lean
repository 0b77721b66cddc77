import TreeFetch.Proofs.Fetch.Containment
import TreeFetch.Proofs.Fetch.Exclusion

/-!
# What happens to the files that a run found

A download reads one file and writes another one. Nothing keeps the destination of one found file
from being another found file, or itself: the output directory may hold them, if the search does not
leave it out, or if it lies above the storage root. A file that is copied onto itself is left empty,
and one that another file is copied over has its bytes.

Results:
1. `Fetch.unchanged_or_overwritten`: a download changes no file but the one that it overwrites.
2. `Fetch.intact_of_spared`: found files that no download overwrites are intact.
3. `Fetch.not_overwritten_of_intact`: if they differ from one another, they are intact only then.
4. `Fetch.overwritten_of_locate?`: a found file is overwritten if the path of a download leads to it
   before the run, and by `Fetch.locate?_of_overwritten`, if the output directory denotes a folder
   without links, only then.
5. `found_intact_iff`: all of this for a run.
-/

namespace TreeFetch

open FileSystem Storage

namespace Fetch

variable {s : Local} {fs : FileSystem} {outputDir : String} {total index : Nat} {p : Planned}
  {plan : List Planned} {at_ : Location}

/-! ## One download -/

/-- A download overwrites the file at a location: it succeeds, and its path leads there. -/
structure Overwrites (s : Local) (outputDir : String) (total index : Nat) (p : Planned)
    (fs : FileSystem) (at_ : Location) : Prop where
  succeeds : (downloadOne s.client outputDir total index p fs).downloaded = 1
  leads : ∃ path, savedAt? outputDir p = some path ∧
    (downloadOne s.client outputDir total index p fs).state.locate? path = some at_

theorem back_of_savedAt? {path : String} (h : savedAt? outputDir p = some path) :
    path.back ≠ '/' :=
  back_of_destination (destination_of_savedAt? h)

/-- A download leaves all files as they are, or it saves its source at a path. -/
theorem downloadOne_cases (s : Local) (fs : FileSystem) (outputDir : String) (total index : Nat)
    (p : Planned) :
    let done := downloadOne s.client outputDir total index p fs
    ((∀ place, done.state.tree.leaf? place = fs.tree.leaf? place) ∧ done.downloaded ≠ 1) ∨
      ∃ path, savedAt? outputDir p = some path ∧ done.downloaded = 1 ∧
        Local.Effect s p.file.id path fs done.state (.ok ()) := by
  intro done
  cases saved : savedAt? outputDir p with
  | none =>
    have ⟨same, zero⟩ : done.state = fs ∧ done.downloaded = 0 := downloadOne_of_none saved
    exact .inl ⟨fun place => by rw [same], by rw [zero]; decide⟩
  | some path =>
    have ⟨same, counted⟩ : done.state = (s.client.download fs p.file path).2 ∧
        (done.downloaded = 1 ↔ (s.client.download fs p.file path).1.result = .ok ()) :=
      downloadOne_of_some saved
    have effect : Local.Effect s p.file.id path fs done.state
        (s.client.download fs p.file path).1.result := by
      rw [same]
      exact Local.download_cases (back_of_savedAt? saved)
    generalize (s.client.download fs p.file path).1.result = result at effect counted
    cases effect with
    | failed extension leaves => exact .inl ⟨leaves, fun one => nomatch counted.1 one⟩
    | saved extension leaves opened found leads new =>
      exact .inr ⟨path, rfl, counted.2 rfl, .saved extension leaves opened found leads new⟩

theorem unchanged_or_overwritten {node : Node} (there : fs.tree.leaf? at_ = some node) :
    (downloadOne s.client outputDir total index p fs).state.tree.leaf? at_ = fs.tree.leaf? at_ ∨
      Overwrites s outputDir total index p fs at_ := by
  rcases downloadOne_cases s fs outputDir total index p with
    ⟨leaves, _⟩ | ⟨path, aims, succeeds, effect⟩
  · exact .inl (leaves at_)
  · cases effect with
    | @saved mid segments source held content t place extension leaves opened found leads new =>
      by_cases same : at_ = place.location
      · right
        refine ⟨succeeds, path, aims, ?_⟩
        cases place with
        | entry target => exact same ▸ new.extension.locate? (locate?_eq_some.2 leads)
        | vacancy folder name =>
          have free := (vacant_of_resolve leads).free
          have here := Tree.leaf?_eq_some.1 ((leaves at_).trans there)
          rw [same] at here
          cases free.symm.trans here.1
      · exact .inl ((new.leaves at_ same).trans (leaves at_))

/-- A file that is overwritten gets the bytes of the source, or none if it is the source. -/
theorem Overwrites.bytes {node : Node} {segments : List String} {held : Location}
    (h : Overwrites s outputDir total index p fs at_) (there : fs.tree.leaf? at_ = some node)
    (source : s.LeadsToFile fs p.file.id segments held) :
    (downloadOne s.client outputDir total index p fs).state.tree.bytes? at_ =
        (if held = at_ then some .empty else fs.tree.bytes? held) ∧
      ∀ place, place ≠ at_ →
        (downloadOne s.client outputDir total index p fs).state.tree.leaf? place =
          fs.tree.leaf? place := by
  obtain ⟨path, aims, located⟩ := h.leads
  rcases downloadOne_cases s fs outputDir total index p with ⟨_, fails⟩ |
    ⟨path', aims', _, effect⟩
  · exact absurd h.succeeds fails
  · obtain rfl : path = path' := Option.some.inj (aims.symm.trans aims')
    cases effect with
    | @saved mid segments' text held' content t place extension leaves opened found leads new =>
      -- the path leads to the file that is written also when it did not exist before
      have target : at_ = place.location := by
        have after := locate?_eq_some.1 located
        cases place with
        | entry target =>
          show at_ = target
          simpa [new.extension.resolve leads] using after.symm
        | vacancy folder name =>
          obtain ⟨time, written⟩ := new.written
          have made := (Tree.leaf?_eq_some.1 written).1
          exact new.extension.resolve_filled leads ⟨_, made, by simp⟩ after
      obtain ⟨cut, rfl⟩ := Local.resolve_eq_ok.1 opened
      have kept := source.extend extension
      obtain rfl : segments = segments' := Option.some.inj (kept.cut.symm.trans cut)
      obtain ⟨bytes, time, read⟩ := kept.found
      obtain ⟨⟨rfl, rfl⟩, _⟩ : (held = held' ∧ bytes = content) ∧ time = t := by
        simpa [and_assoc] using read.symm.trans found
      have original : fs.tree.bytes? held = some bytes :=
        Tree.bytes?_of_leaf? ((leaves held).symm.trans (leaf?_of_stat found))
      obtain ⟨_, written⟩ := new.written
      subst target
      refine ⟨?_, fun place other => (new.leaves place other).trans (leaves place)⟩
      rw [Tree.bytes?_of_leaf? written, original]
      split <;> rfl

/-! ## All downloads of a plan -/

theorem extends_afterDownloads (plan : List Planned) :
    Extends fs (afterDownloads s.client outputDir total plan fs) :=
  extends_of_steps (downloadAll_steps plan)

theorem afterDownloads_concat (plan : List Planned) (p : Planned) :
    afterDownloads s.client outputDir total (plan ++ [p]) fs =
      (downloadOne s.client outputDir total (1 + plan.length) p
        (afterDownloads s.client outputDir total plan fs)).state := by
  unfold afterDownloads
  rw [downloadAll_append]
  rfl

/-- One of the downloads of a plan overwrites the file at a location. -/
def Overwritten (s : Local) (outputDir : String) (total : Nat) (plan : List Planned)
    (fs : FileSystem) (at_ : Location) : Prop :=
  ∃ first p rest, plan = first ++ p :: rest ∧
    Overwrites s outputDir total (1 + first.length) p
      (afterDownloads s.client outputDir total first fs) at_

theorem overwritten_concat :
    Overwritten s outputDir total (plan ++ [p]) fs at_ ↔
      Overwritten s outputDir total plan fs at_ ∨
        Overwrites s outputDir total (1 + plan.length) p
          (afterDownloads s.client outputDir total plan fs) at_ := by
  constructor
  · rintro ⟨first, q, rest, whole, overwrites⟩
    rcases List.eq_nil_or_concat rest with rfl | ⟨others, last, rfl⟩
    · obtain ⟨rfl, same⟩ := List.append_inj' whole rfl
      obtain rfl : p = q := by simpa using same
      exact .inr overwrites
    · rw [List.concat_eq_append, ← List.cons_append, ← List.append_assoc] at whole
      obtain ⟨rfl, _⟩ := List.append_inj' whole rfl
      exact .inl ⟨first, q, others, rfl, overwrites⟩
  · rintro (⟨first, q, rest, rfl, overwrites⟩ | overwrites)
    · exact ⟨first, q, rest ++ [p], by simp, overwrites⟩
    · exact ⟨plan, p, [], rfl, overwrites⟩

theorem intact_of_not_overwritten {node : Node} (there : fs.tree.leaf? at_ = some node)
    (spared : ¬Overwritten s outputDir total plan fs at_) :
    (afterDownloads s.client outputDir total plan fs).tree.leaf? at_ = some node := by
  induction plan using List.reverseRecOn with
  | nil => exact there
  | append_singleton plan p ih =>
    rw [overwritten_concat, not_or] at spared
    have before := ih spared.1
    rw [afterDownloads_concat, (unchanged_or_overwritten before).resolve_right spared.2, before]

/-! ## Found files -/

/-- Every file of a plan is a file of the storage. -/
def AllFiles (s : Local) (fs : FileSystem) (plan : List Planned) : Prop :=
  ∀ p ∈ plan, ∃ segments held, s.LeadsToFile fs p.file.id segments held

theorem AllFiles.leads {q : Planned} (files : AllFiles s fs plan) (found : q ∈ plan)
    (place : s.place? fs q.file.id = some at_) :
    ∃ segments, s.LeadsToFile fs q.file.id segments at_ := by
  obtain ⟨segments, held, target⟩ := files q found
  obtain rfl : held = at_ := Option.some.inj (target.place?_eq.symm.trans place)
  exact ⟨segments, target⟩

/-- No file of a plan is empty, and no two of them have the same bytes. -/
structure Distinct (s : Local) (fs : FileSystem) (plan : List Planned) : Prop where
  filled : ∀ p ∈ plan, s.bytes? fs p.file.id ≠ some .empty
  differ : ∀ p ∈ plan, ∀ q ∈ plan, s.place? fs p.file.id ≠ s.place? fs q.file.id →
    s.bytes? fs p.file.id ≠ s.bytes? fs q.file.id

/-- A download that overwrites a found file changes its bytes, if the found files differ. -/
theorem bytes?_ne_of_overwrites {whole : List Planned} {q : Planned} {before : FileSystem}
    {segments others : List String} {held : Location} (distinct : Distinct s fs whole)
    (ofPlan : p ∈ whole) (found : q ∈ whole) (source : s.LeadsToFile fs p.file.id segments held)
    (target : s.LeadsToFile fs q.file.id others at_) (later : Extends fs before)
    (h : Overwrites s outputDir total index p before at_)
    (held_ : (downloadOne s.client outputDir total index p before).state.tree.bytes? held =
      fs.tree.bytes? held) :
    (downloadOne s.client outputDir total index p before).state.tree.bytes? at_ ≠
      fs.tree.bytes? at_ := by
  intro same
  obtain ⟨content, t, there⟩ := (target.extend later).isLeaf
  obtain ⟨bytes, others_⟩ := h.bytes there (source.extend later)
  rw [same] at bytes
  split at bytes
  · exact distinct.filled q found (target.bytes?_eq.trans bytes)
  · next apart =>
    have kept := Tree.bytes?_congr (others_ held apart)
    refine distinct.differ q found p ofPlan ?_ ?_
    · rw [target.place?_eq, source.place?_eq]
      exact fun equal => apart (Option.some.inj equal).symm
    · rw [target.bytes?_eq, source.bytes?_eq, bytes, ← kept, held_]

/-- If the found files differ and are as before after some downloads of their plan, none of these
overwrites any of them. -/
theorem not_overwritten_of_intact {whole : List Planned} (files : AllFiles s fs whole)
    (distinct : Distinct s fs whole) (part : plan ⊆ whole)
    (intact : ∀ q ∈ whole,
      s.bytes? (afterDownloads s.client outputDir total plan fs) q.file.id =
      s.bytes? fs q.file.id)
    {q : Planned} (found : q ∈ whole) (place : s.place? fs q.file.id = some at_) :
    ¬Overwritten s outputDir total plan fs at_ := by
  induction plan using List.reverseRecOn generalizing q at_ with
  | nil =>
    rintro ⟨first, p, rest, whole, _⟩
    simp at whole
  | append_singleton plan p ih =>
    have ofPlan : p ∈ whole := part (by simp)
    have later : Extends fs (afterDownloads s.client outputDir total plan fs) :=
      extends_afterDownloads plan
    have last : Extends fs (afterDownloads s.client outputDir total (plan ++ [p]) fs) :=
      extends_afterDownloads (plan ++ [p])
    have kept : ∀ q ∈ whole, ∀ segments held, s.LeadsToFile fs q.file.id segments held →
        (afterDownloads s.client outputDir total (plan ++ [p]) fs).tree.bytes? held =
          fs.tree.bytes? held := by
      intro q found segments held leads
      rw [← leads.bytes?_eq, ← (leads.extend last).bytes?_eq]
      exact intact q found
    have spares : ∀ q ∈ whole, ∀ segments held, s.LeadsToFile fs q.file.id segments held →
        ¬Overwrites s outputDir total (1 + plan.length) p
          (afterDownloads s.client outputDir total plan fs) held := by
      intro q found segments held target overwrites
      obtain ⟨others, origin, source⟩ := files p ofPlan
      have origin_ := kept p ofPlan others origin source
      have target_ := kept q found segments held target
      rw [afterDownloads_concat] at origin_ target_
      exact bytes?_ne_of_overwrites distinct ofPlan found source target later overwrites
        origin_ target_
    obtain ⟨segments, target⟩ := files.leads found place
    rw [overwritten_concat, not_or]
    refine ⟨ih (fun p present => part (List.mem_append_left _ present))
      (fun q found => ?_) found place,
      spares q found segments at_ target⟩
    obtain ⟨segments, held, leads⟩ := files q found
    obtain ⟨content, t, there⟩ := (leads.extend later).isLeaf
    have same := (unchanged_or_overwritten there).resolve_right (spares q found segments held leads)
    rw [leads.bytes?_eq, (leads.extend later).bytes?_eq, ← kept q found segments held leads,
      afterDownloads_concat, Tree.bytes?_congr same]

/-- A found file is overwritten by a download of which the path leads there before the run. -/
theorem overwritten_of_locate? {q : Planned} {segments : List String} {path : String}
    (files : AllFiles s fs plan) (planned : p ∈ plan) (saved : savedAt? outputDir p = some path)
    (target : s.LeadsToFile fs q.file.id segments at_) (leads : fs.locate? path = some at_) :
    Overwritten s outputDir total plan fs at_ := by
  obtain ⟨others, held, source⟩ := files p planned
  obtain ⟨first, rest, whole⟩ := List.append_of_mem planned
  have later : Extends fs (afterDownloads s.client outputDir total first fs) :=
    extends_afterDownloads first
  have there := later.locate? leads
  obtain ⟨content, t, found⟩ := (source.extend later).found
  obtain ⟨_, _, leaf⟩ := (target.extend later).isLeaf
  have other := Tree.isFolder_of_leaf? leaf
  have opened : s.resolve p.file.id = .ok (others, PathText.pushAll s.root others) :=
    Local.resolve_eq_ok.2 ⟨source.cut, rfl⟩
  refine ⟨first, p, rest, whole, ?_, path, saved, ?_⟩
  · rw [(downloadOne_of_some saved).2]
    exact Local.download_of_resolve (back_of_savedAt? saved) opened found
      (locate?_eq_some.1 there) other
  · exact (extends_of_steps (downloadOne_steps p)).locate? there

/-- An old file that is overwritten is one that the path of a download leads to before the run, if
the output directory denotes a folder without links. -/
theorem locate?_of_overwritten {dir : Location} (denotes : fs.directory? outputDir = some dir)
    (unlinked : Unlinked fs.tree dir) (old : fs.tree.Solid at_)
    (h : Overwritten s outputDir total plan fs at_) :
    ∃ p ∈ plan, ∃ path, savedAt? outputDir p = some path ∧ fs.locate? path = some at_ := by
  obtain ⟨first, p, rest, rfl, _, path, saved, leads⟩ := h
  refine ⟨p, by simp, path, saved, ?_⟩
  have later : Extends fs (downloadOne s.client outputDir total (1 + first.length) p
      (afterDownloads s.client outputDir total first fs)).state :=
    (extends_afterDownloads first).trans (extends_of_steps (downloadOne_steps p))
  obtain ⟨names, cut, some_, rfl⟩ := destination_eq_ok.1 (destination_of_savedAt? saved)
  exact later.locate?_returned (PathText.isName_of_segments? cut) some_ denotes unlinked old leads

/-! ## A whole run -/

/-- Every file of a plan has, at its id, the bytes that it had before. -/
def Intact (s : Local) (before after : FileSystem) (plan : List Planned) : Prop :=
  ∀ p ∈ plan, ∃ bytes, s.bytes? before p.file.id = some bytes ∧
    s.bytes? after p.file.id = some bytes

def OverwritesFound (s : Local) (fs : FileSystem) (config : Config) (plan : List Planned) : Prop :=
  config.dryRun = false ∧ ∃ q ∈ plan, ∃ at_, s.place? fs q.file.id = some at_ ∧
    Overwritten s config.outputDir plan.length plan fs at_

/-- A run is to save a file at a path that leads to a file that it found, already before the run. -/
def AimsAtFound (s : Local) (fs : FileSystem) (config : Config) (plan : List Planned) : Prop :=
  config.dryRun = false ∧ ∃ p ∈ plan, ∃ path, savedAt? config.outputDir p = some path ∧
    ∃ q ∈ plan, ∃ at_, s.place? fs q.file.id = some at_ ∧ fs.locate? path = some at_

theorem allFiles_planned {config : Config} {report : Report}
    (done : (fetch s.client fs config).result = .ok report) : AllFiles s fs report.planned := by
  obtain ⟨ready, limits, files, searched, planned⟩ := searched_of_report done
  rw [planned]
  intro p present
  obtain ⟨f, found, rfl⟩ := List.mem_map.1 present
  rw [file_ofFile]
  exact Local.meets_file (Search.search_sound begins_startId searched.found found)

theorem intact_refl (files : AllFiles s fs plan) : Intact s fs fs plan := by
  intro p present
  obtain ⟨segments, held, leads⟩ := files p present
  obtain ⟨content, t, leaf⟩ := leads.isLeaf
  have bytes := leads.bytes?_eq.trans (Tree.bytes?_of_leaf? leaf)
  exact ⟨content, bytes, bytes⟩

theorem intact_of_spared (files : AllFiles s fs plan)
    (spared : ∀ q ∈ plan, ∀ at_, s.place? fs q.file.id = some at_ →
      ¬Overwritten s outputDir total plan fs at_) :
    Intact s fs (afterDownloads s.client outputDir total plan fs) plan := by
  intro q found
  obtain ⟨segments, held, leads⟩ := files q found
  obtain ⟨content, t, leaf⟩ := leads.isLeaf
  have still := intact_of_not_overwritten leaf (spared q found held leads.place?_eq)
  have later : Extends fs (afterDownloads s.client outputDir total plan fs) :=
    extends_afterDownloads plan
  exact ⟨content, leads.bytes?_eq.trans (Tree.bytes?_of_leaf? leaf),
    (leads.extend later).bytes?_eq.trans (Tree.bytes?_of_leaf? still)⟩

variable {config : Config} {report : Report}

/-- A path that leads to a found file before the run is one at which the file is overwritten. -/
theorem AimsAtFound.overwrites (files : AllFiles s fs plan) (h : AimsAtFound s fs config plan) :
    OverwritesFound s fs config plan := by
  obtain ⟨real, p, planned, path, saved, q, found, at_, place, leads⟩ := h
  obtain ⟨segments, target⟩ := files.leads found place
  exact ⟨real, q, found, at_, place, overwritten_of_locate? files planned saved target leads⟩

/-- If the output directory denotes a folder without links, a found file that is overwritten is one
that a path leads to before the run. -/
theorem OverwritesFound.aims {dir : Location} (files : AllFiles s fs plan)
    (denotes : fs.directory? config.outputDir = some dir) (unlinked : Unlinked fs.tree dir)
    (h : OverwritesFound s fs config plan) : AimsAtFound s fs config plan := by
  obtain ⟨real, q, found, at_, place, overwritten⟩ := h
  obtain ⟨segments, target⟩ := files.leads found place
  obtain ⟨p, planned, path, saved, leads⟩ :=
    locate?_of_overwritten denotes unlinked target.solid overwritten
  exact ⟨real, p, planned, path, saved, q, found, at_, place, leads⟩

theorem intact_of_not_overwritesFound (done : (fetch s.client fs config).result = .ok report)
    (spared : ¬OverwritesFound s fs config report.planned) :
    Intact s fs (fetch s.client fs config).state report.planned := by
  have files := allFiles_planned done
  rcases state_of_report done with ⟨_, same⟩ | ⟨real, same⟩
  · rw [same]
    exact intact_refl files
  · rw [same]
    exact intact_of_spared files fun q found at_ place overwritten =>
      spared ⟨real, q, found, at_, place, overwritten⟩

theorem not_overwritesFound_of_intact (done : (fetch s.client fs config).result = .ok report)
    (distinct : Distinct s fs report.planned)
    (intact : Intact s fs (fetch s.client fs config).state report.planned) :
    ¬OverwritesFound s fs config report.planned := by
  rintro ⟨real, q, found, at_, place, overwritten⟩
  rcases state_of_report done with ⟨dry, _⟩ | ⟨_, same⟩
  · cases dry.symm.trans real
  · rw [same] at intact
    refine not_overwritten_of_intact (allFiles_planned done) distinct (List.Subset.refl _)
      (fun q found => ?_) found place overwritten
    obtain ⟨bytes, before, still⟩ := intact q found
    exact still.trans before.symm

end Fetch

/-- The files that a run found are intact if none of them is overwritten by a download, and if they
differ from one another, only then. A download overwrites one of them if its path leads there before
the run, and if the output directory denotes a folder without links, only then. -/
theorem found_intact_iff {s : Local} {fs : FileSystem} {config : Config} {report : Report}
    (done : (fetch s.client fs config).result = .ok report) :
    let after := (fetch s.client fs config).state
    (¬Fetch.OverwritesFound s fs config report.planned →
      Fetch.Intact s fs after report.planned) ∧
      (Fetch.Distinct s fs report.planned →
        (Fetch.Intact s fs after report.planned ↔
          ¬Fetch.OverwritesFound s fs config report.planned)) ∧
      (Fetch.AimsAtFound s fs config report.planned →
        Fetch.OverwritesFound s fs config report.planned) ∧
      ∀ dir, fs.directory? config.outputDir = some dir → Unlinked fs.tree dir →
        (Fetch.OverwritesFound s fs config report.planned ↔
          Fetch.AimsAtFound s fs config report.planned) := by
  intro after
  have files := Fetch.allFiles_planned done
  have spares := Fetch.intact_of_not_overwritesFound done
  refine ⟨spares, fun distinct => ⟨?_, spares⟩, fun aims => aims.overwrites files, ?_⟩
  · intro intact
    exact Fetch.not_overwritesFound_of_intact done distinct intact
  · intro dir denotes unlinked
    constructor
    · intro overwrites
      exact overwrites.aims files denotes unlinked
    · intro aims
      exact aims.overwrites files

/-! ## A file that is copied onto itself -/

theorem Fetch.sample_emptied :
    Local.bytes? ⟨"/s"⟩ Fetch.sample "o/a" = some ⟨#[7]⟩ ∧
      Local.bytes? ⟨"/s"⟩
        (fetch (Local.client ⟨"/s"⟩) Fetch.sample Fetch.sampleConfig).state "o/a" =
        some .empty := by
  constructor
  · cbv
  · have path : PathText.pushAll "/s" ["o", "a"] = "/s/o/a" := by cbv
    have cut : PathText.segments? "o/a" = some ["o", "a"] := by decide
    rw [Local.bytes?, cut, Option.bind_some, path, Fetch.sample_run.2]
    rfl

/-- A run empties the file that it found. -/
theorem found_file_emptied :
    ∃ report p,
      (fetch (Local.client ⟨"/s"⟩) Fetch.sample Fetch.sampleConfig).result = .ok report ∧
      p ∈ report.planned ∧ Local.bytes? ⟨"/s"⟩ Fetch.sample p.file.id = some ⟨#[7]⟩ ∧
      Local.bytes? ⟨"/s"⟩
        (fetch (Local.client ⟨"/s"⟩) Fetch.sample Fetch.sampleConfig).state
        p.file.id = some .empty := by
  obtain ⟨report, p, done, planned, id⟩ := Fetch.sample_report
  refine ⟨report, p, done, planned, ?_⟩
  rw [id]
  exact Fetch.sample_emptied

/-- The file is not intact, so that it has been overwritten, and this is due to the path at which it
was to be saved. -/
theorem aimsAtFound_sample :
    ∃ report, (fetch (Local.client ⟨"/s"⟩) Fetch.sample Fetch.sampleConfig).result =
      .ok report ∧
      Fetch.OverwritesFound ⟨"/s"⟩ Fetch.sample Fetch.sampleConfig report.planned ∧
      Fetch.AimsAtFound ⟨"/s"⟩ Fetch.sample Fetch.sampleConfig report.planned := by
  obtain ⟨report, p, done, planned, id⟩ := Fetch.sample_report
  obtain ⟨spares, _, _, exact_⟩ := found_intact_iff done
  have overwrites : Fetch.OverwritesFound ⟨"/s"⟩
      Fetch.sample Fetch.sampleConfig report.planned := by
    by_contra spared
    obtain ⟨bytes, before, after⟩ := spares spared p planned
    rw [id] at before after
    cases (before.symm.trans Fetch.sample_emptied.1).symm
    cases after.symm.trans Fetch.sample_emptied.2
  have denotes : Fetch.sample.directory? "/s/o" = some [.text "o", .text "s"] := by cbv
  have unlinked : Unlinked Fetch.sample.tree [.text "o", .text "s"] :=
    fun place target _ => Fetch.sample_linkFree place target
  exact ⟨report, done, overwrites, (exact_ _ denotes unlinked).1 overwrites⟩

end TreeFetch
