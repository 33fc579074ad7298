import PromptLibrary.Proofs.Library.RoundTrip
import PromptLibrary.Proofs.Session.Atomicity

/-!
# The library file keeps up with the library

Whatever happens in a session, the library that is loaded can be loaded again from the file.

## The invariant

After every step the library file is in one of three situations (`Synced`): it is missing and the
loaded library is empty; it can be read and gives the loaded library; or it holds what is written
for the loaded library. The last situation is about texts only, since a library need not come back
from its text at every moment: a number that is not an integer, or nesting that is too deep, does
harm only if it is still there when the workspace is opened again. So the two conditions are asked
of the last library alone (`reopen_run`).
-/

namespace PromptLibrary

open MemoryStore

/-! ## Opening -/

namespace Workspace

theorem perform_loadLibrary (config : Config) (s : MemoryStore) :
    perform (loadLibrary config) s =
      if s.has config.libraryFile then
        (match s.get? config.libraryFile with
          | some text => Library.ofText text config.libraryFile
          | none => .error (.file (.notFound config.libraryFile)), s)
      else (.ok {}, s) := by
  rw [loadLibrary, perform_bind, perform_has]
  cases s.has config.libraryFile with
  | false => rfl
  | true =>
    simp only [if_true]
    rw [Library.load, perform_bind, withFileErrors, perform_adapt, perform_read]
    cases s.get? config.libraryFile <;> rfl

theorem perform_fetch (path : Path) (c : ModelCatalog) (s : MemoryStore) :
    ∃ r, Session.perform (ModelInfo.fetch path) c s = (r, c, s) := by
  have hread : Session.perform (ExceptT.adapt (fun e ↦ Error.modelCatalog path (some e))
      (FileStore.read path)) c s =
      (((s.get? path).elim (Except.error (FileError.notFound path)) Except.ok).mapError
        fun e ↦ Error.modelCatalog path (some e), c, s) := rfl
  rw [ModelInfo.fetch, Session.perform_bind, hread]
  cases s.get? path with
  | none => exact ⟨_, rfl⟩
  | some text =>
    simp only [Option.elim_some, Except.mapError]
    cases ModelInfo.listOfText? text with
    | none => exact ⟨_, rfl⟩
    | some models => exact ⟨_, rfl⟩

theorem perform_refresh (path : Path) (c : ModelCatalog) (s : MemoryStore) :
    ∃ r c', Session.perform (ModelCatalog.refresh path) c s = (r, c', s) := by
  obtain ⟨r, hr⟩ := perform_fetch path c s
  rw [ModelCatalog.refresh, Session.perform_bind, hr]
  cases r with
  | error e => exact ⟨_, _, rfl⟩
  | ok models => exact ⟨_, _, rfl⟩

theorem run_loadCatalog (config : Config) (s : MemoryStore) :
    ∃ c, (loadCatalog config : StateM MemoryStore ModelCatalog).run s = (c, s) := by
  rw [loadCatalog]
  cases config.modelsFile with
  | none => exact ⟨{}, rfl⟩
  | some path =>
    obtain ⟨r, c, hr⟩ := perform_refresh path {} s
    have hfiles : (((ModelCatalog.refresh path).run.run {} :
        StateM MemoryStore (Except Error Nat × ModelCatalog)).run s).2 = s :=
      congrArg (·.2.2) hr
    refine ⟨_, Prod.ext rfl ?_⟩
    exact hfiles

theorem perform_ofConfig (config : Config) (s : MemoryStore) :
    ∃ catalog, perform (ofConfig config) s =
      match perform (loadLibrary config) s with
      | (.ok library, _) => (.ok { config, library, catalog }, s)
      | (.error e, _) => (.error e, s) := by
  obtain ⟨c, hc⟩ := run_loadCatalog config s
  refine ⟨c, ?_⟩
  have hfiles : (perform (loadLibrary config) s).2 = s := by
    rw [perform_loadLibrary]
    split <;> rfl
  rw [ofConfig, perform_bind]
  rcases hrun : perform (loadLibrary config) s with ⟨e | l, t⟩
  · rw [hrun] at hfiles
    exact congrArg _ hfiles
  · rw [hrun] at hfiles
    obtain rfl : t = s := hfiles
    dsimp only
    rw [perform_bind, perform_lift, hc]
    rfl

theorem perform_ofConfig_of_get? {config : Config} {s : MemoryStore} {text : String}
    (h : s.get? config.libraryFile = some text) :
    ∃ catalog, perform (ofConfig config) s =
      ((Library.ofText text config.libraryFile).map ({ config, library := ·, catalog }), s) := by
  obtain ⟨catalog, hopen⟩ := perform_ofConfig config s
  refine ⟨catalog, ?_⟩
  rw [hopen, perform_loadLibrary, has_of_get? h, if_pos rfl, h]
  dsimp only
  cases Library.ofText text config.libraryFile <;> rfl

end Workspace

/-! ## Events -/

/-- What can happen in a session, or to its files. -/
inductive Event where
  /-- The library is edited. -/
  | edit (e : LibraryEdit)
  /-- The library is saved. -/
  | save
  /-- The library file is backed up. -/
  | backup
  /-- From now on, changes to these paths are refused, and to no others. -/
  | refuse (ps : List Path)

/-- A template that is added is well-formed. The other edits read or build what they store. -/
def LibraryEdit.WellFormed : LibraryEdit → Prop
  | add _ t => t.WellFormed
  | _ => True

theorem LibraryEdit.WellFormed.edited {e : LibraryEdit} {w : Workspace} {l : Library}
    (he : e.WellFormed) (hw : w.library.WellFormed) (hl : e.edited w = .ok l) : l.WellFormed := by
  cases e with
  | add name t => exact hw.insert he hl
  | applySchema name fields title => exact hw.applyOutputSchema hl
  | setFormat name text => exact hw.setResponseFormat hl

namespace Event

/-- Templates that are added are well-formed. -/
def WellFormed : Event → Prop
  | edit e => e.WellFormed
  | _ => True

/-- What an event makes of the workspace and the files. Its result is not looked at. -/
def step (x : Workspace × MemoryStore) : Event → Workspace × MemoryStore
  | edit e => (Session.perform e.session x.1 x.2).2
  | save => (x.1, (perform x.1.save x.2).2)
  | backup => (x.1, (perform x.1.backup x.2).2)
  | refuse ps => (x.1, { x.2 with failing := ps })

/-- What some events make of the workspace and the files. -/
def run (events : List Event) (x : Workspace × MemoryStore) : Workspace × MemoryStore :=
  events.foldl step x

end Event

/-! ## The invariant -/

/-- The library file goes with a library. -/
inductive InFile (l : Library) (p : Path) (s : MemoryStore) : Prop where
  /-- There is no file and the library is empty. -/
  | absent (hfile : s.has p = false) (hempty : l = {})
  /-- The file can be read and gives the library. -/
  | read {text : String} (hfile : s.get? p = some text) (hread : Library.ofText text p = .ok l)
  /-- The file holds what is written for the library. -/
  | written (hfile : s.get? p = some l.toText)

/-- Only the text of the file matters, and whether it is there. -/
theorem InFile.congr {l : Library} {p : Path} {s t : MemoryStore} (h : InFile l p s)
    (hget : t.get? p = s.get? p) (hhas : t.has p = s.has p) : InFile l p t := by
  cases h with
  | absent hfile hempty => exact .absent (hhas.trans hfile) hempty
  | read hfile hread => exact .read (hget.trans hfile) hread
  | written hfile => exact .written (hget.trans hfile)

theorem InFile.frame {l : Library} {r : Rotator} {s t : MemoryStore} (h : InFile l r.path s)
    (hr : r.Apart) (hf : Frame r.slots s t) : InFile l r.path t :=
  h.congr (hf.files _ hr) (hf.has_eq hr)

/-- The settings are those of the opening, the loaded library is well-formed, and the library file
goes with it. -/
structure Synced (config : Config) (x : Workspace × MemoryStore) : Prop where
  /-- The settings do not change. -/
  config_eq : x.1.config = config
  /-- The library is well-formed. -/
  library : x.1.library.WellFormed
  /-- The file goes with the library. -/
  file : InFile x.1.library config.libraryFile x.2

theorem synced_ofConfig {config : Config} {w : Workspace} {s t : MemoryStore}
    (h : perform (Workspace.ofConfig config) s = (.ok w, t)) : Synced config (w, t) := by
  obtain ⟨catalog, hopen⟩ := Workspace.perform_ofConfig config s
  rw [hopen, Workspace.perform_loadLibrary] at h
  cases hhas : s.has config.libraryFile with
  | false =>
    rw [hhas] at h
    cases h
    exact ⟨rfl, Library.wellFormed_empty, .absent hhas rfl⟩
  | true =>
    rw [hhas, if_pos rfl] at h
    cases hfile : s.get? config.libraryFile with
    | none =>
      rw [hfile] at h
      cases h
    | some text =>
      rw [hfile] at h
      dsimp only at h
      cases hread : Library.ofText text config.libraryFile with
      | error e =>
        rw [hread] at h
        cases h
      | ok l =>
        rw [hread] at h
        cases h
        exact ⟨rfl, Library.wellFormed_of_ofText hread, .read hfile hread⟩

/-- A save that failed leaves the file in step, and one that succeeded brings it in step. -/
theorem inFile_save {l l' : Library} {r : Rotator} {s t : MemoryStore} {result : Except Error Unit}
    (hsaved : l'.Saved r s (result, t)) (hr : r.Apart) (h : InFile l r.path s) :
    InFile (if result.isOk then l' else l) r.path t := by
  cases hsaved with
  | failed hf => exact h.frame hr hf
  | done hfile => exact .written hfile

/-- **One event** keeps the workspace in step with its file. -/
theorem Synced.step {config : Config} {x : Workspace × MemoryStore} {e : Event}
    (hr : (Rotator.mk config.libraryFile config.maxBackups).Apart) (he : e.WellFormed)
    (hx : Synced config x) : Synced config (e.step x) := by
  obtain ⟨w, s⟩ := x
  obtain ⟨rfl, hlibrary, hfile⟩ := hx
  cases e with
  | edit e =>
    -- the workspace takes the edited library exactly if the save has succeeded
    rw [Event.step, LibraryEdit.perform_session]
    cases hedit : e.edited w with
    | error err => exact ⟨rfl, hlibrary, hfile⟩
    | ok l =>
      have hsaved := l.saved_save hr s
      dsimp only
      rcases hrun : perform (l.save w.config.libraryFile w.config.maxBackups) s with ⟨err | ⟨⟩, t⟩
      all_goals rw [hrun] at hsaved
      · exact ⟨rfl, hlibrary, inFile_save hsaved hr hfile⟩
      · exact ⟨rfl, LibraryEdit.WellFormed.edited he hlibrary hedit, inFile_save hsaved hr hfile⟩
  | save =>
    -- the library stays; only the file changes, and it is written for the same library
    have hsaved := w.library.saved_save hr s
    rcases hrun : perform (w.library.save w.config.libraryFile w.config.maxBackups) s with ⟨r, t⟩
    rw [hrun] at hsaved
    have hkept := inFile_save hsaved hr hfile
    rw [ite_self] at hkept
    rw [Event.step, Workspace.save, hrun]
    exact ⟨rfl, hlibrary, hkept⟩
  | backup => exact ⟨rfl, hlibrary, hfile.frame hr (Rotator.backed_backup hr s).frame⟩
  | refuse ps => exact ⟨rfl, hlibrary, hfile.congr rfl rfl⟩

theorem Synced.run {config : Config} {events : List Event} {x : Workspace × MemoryStore}
    (hr : (Rotator.mk config.libraryFile config.maxBackups).Apart)
    (hevents : ∀ e ∈ events, e.WellFormed) (hx : Synced config x) :
    Synced config (Event.run events x) := by
  induction events generalizing x with
  | nil => exact hx
  | cons e events ih =>
    have he := hevents e List.mem_cons_self
    exact ih (fun f hf ↦ hevents f (List.mem_cons_of_mem _ hf)) (hx.step hr he)

/-! ## Opening again -/

theorem Synced.reopen {config : Config} {x : Workspace × MemoryStore} (hx : Synced config x)
    (hint : x.1.library.Integral) (hdepth : x.1.library.toJson.depth ≤ Json.nestingLimit) :
    ∃ w, perform (Workspace.ofConfig config) x.2 = (.ok w, x.2) ∧ w.library = x.1.library := by
  obtain ⟨w, s⟩ := x
  cases hx.file with
  | absent hfile hempty =>
    obtain ⟨catalog, hopen⟩ := Workspace.perform_ofConfig config s
    have hlibrary : w.library = {} := hempty
    rw [Workspace.perform_loadLibrary, hfile] at hopen
    exact ⟨_, hopen, hlibrary.symm⟩
  | read hfile hread =>
    obtain ⟨catalog, hopen⟩ := Workspace.perform_ofConfig_of_get? hfile
    rw [hread] at hopen
    exact ⟨_, hopen, rfl⟩
  | written hfile =>
    obtain ⟨catalog, hopen⟩ := Workspace.perform_ofConfig_of_get? hfile
    rw [Library.ofText_toText_of_depth_le hx.library hint hdepth config.libraryFile] at hopen
    exact ⟨_, hopen, rfl⟩

/-- **Memory and file never drift apart.** After any events the workspace can be opened again, and
the library is the one that was loaded. -/
theorem reopen_run {config : Config} {w : Workspace} {s t : MemoryStore} {events : List Event}
    (hr : (Rotator.mk config.libraryFile config.maxBackups).Apart)
    (hopen : perform (Workspace.ofConfig config) s = (.ok w, t))
    (hevents : ∀ e ∈ events, e.WellFormed) :
    let x := Event.run events (w, t)
    x.1.library.Integral → x.1.library.toJson.depth ≤ Json.nestingLimit →
      ∃ w', perform (Workspace.ofConfig config) x.2 = (.ok w', x.2) ∧
        w'.library = x.1.library := by
  intro x hint hdepth
  have hsynced : Synced config x := (synced_ofConfig hopen).run hr hevents
  exact hsynced.reopen hint hdepth

/-- A backup and an edit fail, since the generation before them cannot be moved on. What was edited
before is opened again. -/
theorem reopen_run_half_rotated :
    let config := Config.new ⟨"/lib"⟩
    let events : List Event :=
      [.edit (.add "greeting" (Template.withText "Hello << name >>")),
        .edit (.applySchema "greeting" [Schema.Field.new "mood"] none),
        .refuse [⟨"/lib/prompts.bak2"⟩], .backup, .edit (.add "farewell" {})]
    let x := Event.run events ({ config }, {})
    x.1.library.names = ["greeting"] ∧
      ∃ w, perform (Workspace.ofConfig config) x.2 = (.ok w, x.2) ∧ w.library = x.1.library := by
  intro config events
  have hr : (Rotator.mk config.libraryFile config.maxBackups).Apart := by
    unfold Rotator.Apart
    decide +kernel
  have hopen : perform (Workspace.ofConfig config) ({} : MemoryStore) =
      (.ok { config }, {}) := rfl
  have hevents : ∀ e ∈ events, e.WellFormed := by
    simp [events, Event.WellFormed, LibraryEdit.WellFormed, Template.WellFormed,
      Template.withText]
  have hnames : (Event.run events ({ config }, {})).1.library.names = ["greeting"] := by
    decide +kernel
  have hint : (Event.run events ({ config }, {})).1.library.Integral := by
    unfold Library.Integral
    decide +kernel
  have hdepth : (Event.run events ({ config }, {})).1.library.toJson.depth ≤
      Json.nestingLimit := by
    decide +kernel
  have hreopen := reopen_run hr hopen hevents
  exact ⟨hnames, hreopen hint hdepth⟩

end PromptLibrary
