import TreeFetch.Proofs.Fetch.Stages
import TreeFetch.Proofs.Storage.Requests

/-!
# The requests of a run

Before a run searches it asks its storage for nothing but the id of the output directory. Then it
asks for folders, as its search does, and last of all it asks for downloads: one for each file of
the plan that is to be saved somewhere, in the order of the plan.

Results:
1. `Fetch.fetch_passes`: how far a run comes, and what it asks for up to there.
2. `Fetch.calls_deliver`: what it asks for when it has found files.
-/

namespace TreeFetch

open Storage (Call Client Event File Stop)

variable {σ : Type} {client : Client σ} {state : σ} {config : Config}

theorem Storage.Event.calls_eq_nil {events : List Event}
    (quiet : ∀ e ∈ events, ∃ r, e = .told r) : Event.calls events = [] := by
  refine List.filterMap_eq_nil_iff.2 fun e present => ?_
  obtain ⟨r, rfl⟩ := quiet e present
  rfl

/-- Why a run gives up of which the search has stopped. -/
def Failure.ofStop : Stop → Failure
  | .failed e => .failed e
  | .endless => .endlessWalk

namespace Fetch

/-! ## Before the downloads -/

@[simp] theorem calls_announce (t : Transformer) : Event.calls (announce t) = [] := by
  unfold announce
  simp only
  split
  · rfl
  · rfl

theorem calls_limits {outputId : Option String} {limits : Storage.Limits} {noted : List Event}
    (h : Fetch.limits config outputId = .ok (limits, noted)) : Event.calls noted = [] := by
  cases outputId with
  | none =>
    obtain ⟨_, rfl⟩ := Prod.mk.inj (Except.ok.inj h)
    rfl
  | some id =>
    simp only [Fetch.limits] at h
    split at h
    · cases h
    · obtain ⟨_, rfl⟩ := Prod.mk.inj (Except.ok.inj h)
      rfl

/-- How far a run comes, and what it asks for up to there. -/
inductive Passes (client : Client σ) (state : σ) (config : Config) : Ending σ → Prop
  | unprepared {failure : Failure} :
      prepare config = .error failure → Passes client state config ⟨.error failure, [], state⟩
  | refused {ready : Preparation} {failure : Failure} {events : List Event} :
      prepare config = .ok ready →
      Fetch.limits config (client.folderIdAt state config.outputDir) = .error failure →
      Event.calls events = [] → Passes client state config ⟨.error failure, events, state⟩
  | lost {ready : Preparation} {limits : Storage.Limits} {noted events : List Event} {stop : Stop} :
      prepare config = .ok ready →
      Fetch.limits config (client.folderIdAt state config.outputDir) = .ok (limits, noted) →
      (Storage.search client state config.folderId ready.pattern limits).result = .error stop →
      Event.calls events =
        Event.calls (Storage.search client state config.folderId ready.pattern limits).events →
      Passes client state config ⟨.error (.ofStop stop), events, state⟩
  | delivered {ready : Preparation} {limits : Storage.Limits} {files : List File}
      {before : List Event} {ending : Ending σ} :
      Searched client state config ready limits files →
      Event.calls before =
        Event.calls (Storage.search client state config.folderId ready.pattern limits).events →
      ending = deliver client state config ready.transformer files →
      Passes client state config { ending with events := before ++ ending.events }

theorem fetch_passes (client : Client σ) (state : σ) (config : Config) :
    Passes client state config (fetch client state config) := by
  rw [fetch_unheard]
  cases prepared : prepare config with
  | error failure => exact .unprepared prepared
  | ok ready =>
    have announced : Event.calls (ready.transformer.elim [] announce) = [] := by
      cases ready.transformer with
      | none => rfl
      | some t => exact calls_announce t
    simp only
    cases limited : Fetch.limits config (client.folderIdAt state config.outputDir) with
    | error failure => exact .refused prepared limited announced
    | ok found =>
      obtain ⟨limits, noted⟩ := found
      have before : Event.calls (ready.transformer.elim [] announce ++ noted ++
          (Storage.search client state config.folderId ready.pattern limits).events) =
            Event.calls
              (Storage.search client state config.folderId ready.pattern limits).events := by
        rw [Event.calls_append, Event.calls_append, announced, calls_limits limited]
        rfl
      simp only
      split
      · next e searched =>
        have lost : Passes client state config ⟨.error (.ofStop (.failed e)), _, _⟩ :=
          .lost prepared limited searched before
        exact lost
      · next searched =>
        have lost : Passes client state config ⟨.error (.ofStop .endless), _, _⟩ :=
          .lost prepared limited searched before
        exact lost
      · next files searched =>
        exact .delivered ⟨prepared, ⟨noted, limited⟩, searched⟩ before rfl

/-! ## The downloads -/

variable {outputDir : String} {total index : Nat}

theorem calls_listFound (files : List File) : Event.calls (listFound files) = [] := by
  refine Event.calls_eq_nil fun e present => ?_
  rcases List.mem_cons.1 present with rfl | listed
  · exact ⟨_, rfl⟩
  · obtain ⟨f, _, rfl⟩ := List.mem_map.1 listed
    exact ⟨_, rfl⟩

theorem calls_previewOne (outputDir : String) (p : Planned) :
    Event.calls (previewOne outputDir p) = [] := by
  have saved : Event.calls [previewSaved outputDir p] = [] := by
    unfold previewSaved
    split
    · rfl
    · rfl
  unfold previewOne
  cases p.outcome with
  | unchanged => exact saved
  | transformed => exact saved
  | fallback e => exact saved
  | failed e => rfl

theorem calls_preview (outputDir : String) (plan : List Planned) :
    Event.calls (preview outputDir plan) = [] := by
  have each : Event.calls (plan.flatMap (previewOne outputDir)) = [] := by
    induction plan with
    | nil => rfl
    | cons p rest ih => rw [List.flatMap_cons, Event.calls_append, calls_previewOne, ih]; rfl
  rw [preview, Event.calls_append, Event.calls_append, each]
  rfl

/-- The request for the download of a planned file, if it is to be saved somewhere. -/
def request? (outputDir : String) (p : Planned) : Option Call :=
  (savedAt? outputDir p).map (.download p.file.id)

theorem calls_downloadOne (p : Planned) :
    Event.calls (downloadOne client outputDir total index p state).events =
      (request? outputDir p).toList := by
  rw [request?]
  cases saved : savedAt? outputDir p with
  | none =>
    rw [downloadOne_eq]
    split
    · rfl
    · split
      · rfl
      · next text aims => simp [savedAt?, aims, Except.toOption] at saved
  | some path =>
    have aims := destination_of_savedAt? saved
    rw [downloadOne_eq]
    split
    · next failed => simp [savedAt?, failed] at saved
    · simp only [aims]
      split <;> simp [say]

/-- Downloads are asked for in the order of the plan, whatever comes of them: one for each file that
is to be saved somewhere. -/
theorem calls_downloadAll (plan : List Planned) :
    Event.calls (downloadAll client outputDir total index plan state).events =
      plan.filterMap (request? outputDir) := by
  induction plan generalizing index state with
  | nil => rfl
  | cons p rest ih =>
    have here := @calls_downloadOne σ client state outputDir total index p
    rw [downloadAll_cons, List.filterMap_cons]
    simp only [Downloads.after, Event.calls_append, ih, here]
    cases request? outputDir p <;> rfl

/-- What a run asks for when it has found files. A preview asks for nothing. -/
theorem calls_deliver (client : Client σ) (state : σ) (config : Config)
    (transformer : Option Transformer) (files : List File) :
    Event.calls (deliver client state config transformer files).events =
      if config.dryRun then [] else (plan transformer files).filterMap
        (request? config.outputDir) := by
  cases files with
  | nil =>
    rw [deliver_nil]
    split
    · exact calls_listFound []
    · exact calls_listFound []
  | cons file rest =>
    rw [deliver_cons]
    split
    · simp [calls_listFound, calls_preview]
    · simp [calls_listFound, calls_downloadAll, say, summary]

end Fetch

end TreeFetch
